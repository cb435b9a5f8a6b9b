import Switchboard.Text

/-!
# Decimal numerals

Whole numbers as text, and the value of a run of digits.
-/

namespace Switchboard.Decimal

/-- The decimal digits of a natural number, without leading zeros. -/
def ofNat (number : Nat) : Text := Text.ofChars (Nat.toDigits 10 number)

/-- The decimal numeral of an integer, a minus sign before a negative one. -/
def ofInt : Int → Text
  | .ofNat number => ofNat number
  | .negSucc number => .scalar '-' :: ofNat (number + 1)

/-- Whether a code point is one of the ten ASCII digits. -/
def isDigit : CodePoint → Bool
  | .scalar c => '0' ≤ c && c ≤ '9'
  | .surrogate _ => false

/-- The value of a digit. -/
def digitValue (point : CodePoint) : Nat := point.code - 0x30

/-- The number that a run of digits denotes. -/
def value (digits : Text) : Nat :=
  digits.foldl (fun number digit => number * 10 + digitValue digit) 0

/-- A numeral begins with a digit. -/
theorem ofNat_eq_cons (number : Nat) :
    ∃ first rest, ofNat number = .scalar first :: rest ∧ first.isDigit = true := by
  cases digits : Nat.toDigits 10 number with
  | nil => exact absurd digits Nat.toDigits_ne_nil
  | cons first rest =>
    have member : first ∈ Nat.toDigits 10 number := by simp [digits]
    refine ⟨first, Text.ofChars rest, ?_, ?_⟩
    · simp [ofNat, Text.ofChars, digits]
    · exact Nat.isDigit_of_mem_toDigits (by omega) (by omega) member

/-- A numeral denotes one number only. -/
theorem ofNat_injective {first second : Nat} (same : ofNat first = ofNat second) :
    first = second := by
  have digits : Nat.toDigits 10 first = Nat.toDigits 10 second := by
    refine (List.map_inj_right ?_).mp same
    rintro _ _ ⟨⟩
    rfl
  have denoted := congrArg (Nat.ofDigitChars 10 · 0) digits
  simpa using denoted

end Switchboard.Decimal
