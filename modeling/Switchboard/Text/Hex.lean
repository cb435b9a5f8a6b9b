import Switchboard.Text

/-!
# Hexadecimal escapes

Fixed-width hexadecimal digits, written in lower case and read in either case.
-/

namespace Switchboard.Text.Hex

/-- The digit for a value below sixteen. -/
def digit (value : Nat) : Char :=
  if value < 10 then Char.ofNat (0x30 + value) else Char.ofNat (0x61 + (value - 10))

/-- The value of a hexadecimal digit of either case. -/
def value? : CodePoint → Option Nat
  | .surrogate _ => none
  | .scalar c =>
      if '0' ≤ c ∧ c ≤ '9' then some (c.toNat - 0x30)
      else if 'a' ≤ c ∧ c ≤ 'f' then some (c.toNat - 0x61 + 10)
      else if 'A' ≤ c ∧ c ≤ 'F' then some (c.toNat - 0x41 + 10)
      else none

/-- The last `width` hexadecimal digits of a number, most significant first. -/
def digits : (width : Nat) → (number : Nat) → Text
  | 0, _ => []
  | width + 1, number => digits width (number / 16) ++ [.scalar (digit (number % 16))]

end Switchboard.Text.Hex
