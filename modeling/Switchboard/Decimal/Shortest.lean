import Switchboard.Decimal

/-!
# Shortest decimals

`shortest` finds, for a positive binary number, the decimal with the fewest digits that
reads back as that number; of several with the fewest digits it takes the nearest, and of
two equally near the even one. All arithmetic is exact.
-/

namespace Switchboard.Decimal

/-- A positive number `significand * 2 ^ exponent` of a binary floating-point format. `narrow`
says that the number below is only half as far away as the number above. -/
structure Dyadic where
  significand : Nat
  exponent : Int
  narrow : Bool

/-- The decimal `coefficient * 10 ^ exponent`. -/
structure Scientific where
  coefficient : Nat
  exponent : Int
  deriving DecidableEq

/-- A decimal grid laid over a dyadic: the dyadic is `value / unit` grid steps, and every
number between `low / unit` and `high / unit` steps rounds to it. -/
structure Grid where
  unit : Nat
  low : Nat
  value : Nat
  high : Nat
  closed : Bool

namespace Dyadic

/-- Quarters of the last place, as a fraction: twice the distance from the number to the
middle between it and a neighbour is a whole count of them. -/
def quarters (number : Dyadic) : Nat × Nat :=
  let exponent := number.exponent - 2
  (Nat.pow 2 exponent.toNat, Nat.pow 2 (-exponent).toNat)

/-- The greatest `k` with `10 ^ k` at most `numerator / denominator`, sought around the
quotient of the binary lengths. -/
def magnitude (numerator denominator : Nat) : Int :=
  let estimate : Int :=
    ((numerator.log2 : Int) - (denominator.log2 : Int)) * 30103 / 100000
  let reaches (k : Int) : Bool :=
    denominator * Nat.pow 10 k.toNat ≤ numerator * Nat.pow 10 (-k).toNat
  if reaches (estimate + 1) then estimate + 1
  else if reaches estimate then estimate
  else estimate - 1

/-- The grid with steps of `10 ^ step`. -/
def grid (number : Dyadic) (step : Int) : Grid :=
  let (scale, denominator) := number.quarters
  let finer := Nat.pow 10 (-step).toNat
  let value := 4 * number.significand * scale
  { unit := denominator * Nat.pow 10 step.toNat
    low := (value - (if number.narrow then 1 else 2) * scale) * finer
    value := value * finer
    high := (value + 2 * scale) * finer
    closed := number.significand % 2 == 0 }

end Dyadic

namespace Grid

/-- Whether the grid point with this number rounds to the dyadic. -/
def holds (grid : Grid) (point : Nat) : Bool :=
  let position := point * grid.unit
  if grid.closed then grid.low ≤ position && position ≤ grid.high
  else grid.low < position && position < grid.high

/-- The grid point nearest to the dyadic among its two neighbours that round to it. -/
def nearest? (grid : Grid) : Option Nat :=
  let below := grid.value / grid.unit
  let above := below + 1
  match grid.holds below && 0 < below, grid.holds above with
  | true, true =>
      let toBelow := grid.value - below * grid.unit
      let toAbove := above * grid.unit - grid.value
      if toBelow < toAbove then some below
      else if toAbove < toBelow then some above
      else some (if below % 2 == 0 then below else above)
  | true, false => some below
  | false, true => some above
  | false, false => none

end Grid

/-- Move the trailing zeros of a coefficient into the exponent; `fuel` bounds their number. -/
def Scientific.normalize : (fuel : Nat) → Scientific → Scientific
  | 0, decimal => decimal
  | fuel + 1, decimal =>
      if decimal.coefficient ≠ 0 ∧ decimal.coefficient % 10 = 0 then
        normalize fuel ⟨decimal.coefficient / 10, decimal.exponent + 1⟩
      else decimal

/-- Try grids of `digits` digits and more, up to `remaining` grids. -/
def Dyadic.search (number : Dyadic) (magnitude : Int) :
    (remaining digits : Nat) → Scientific
  | 0, _ => ⟨number.significand, number.exponent⟩
  | remaining + 1, digits =>
      let step := magnitude - digits + 1
      match (number.grid step).nearest? with
      | some point => ⟨point, step⟩
      | none => number.search magnitude remaining (digits + 1)

/-- The shortest decimal that reads back as the number. Seventeen digits always suffice for a
significand of 53 bits. -/
def Dyadic.shortest (number : Dyadic) : Scientific :=
  let (scale, denominator) := number.quarters
  let magnitude := magnitude (4 * number.significand * scale) denominator
  (number.search magnitude 17 1).normalize 20

end Switchboard.Decimal
