import Switchboard.Decimal.Binary64
import Switchboard.Json.Fault
import Switchboard.Text.Hex
import Switchboard.Value

/-!
# Reading JSON

`read` turns a document into a value or says what is wrong with it. Beyond the standard
grammar it accepts `NaN`, `Infinity` and `-Infinity`; of a repeated key the last value
counts, at the place of the first. Every reader takes the text ahead and returns the text
after what it read, so faults and successes are located by what is left.
-/

namespace Switchboard.Json

/-- The four blanks of JSON. -/
def isBlank : CodePoint → Bool
  | .scalar ' ' => true
  | .scalar '\t' => true
  | .scalar '\n' => true
  | .scalar '\r' => true
  | _ => false

/-- The text from the first code point that is not blank. -/
def skipBlanks (source : Text) : Text := source.dropWhile isBlank

/-! ## Strings -/

/-- The number that four hexadecimal digits denote. -/
def unit? (a b c d : CodePoint) : Option Nat := do
  let a ← Text.Hex.value? a
  let b ← Text.Hex.value? b
  let c ← Text.Hex.value? c
  let d ← Text.Hex.value? d
  return ((a * 16 + b) * 16 + c) * 16 + d

/-- Whether a number is the first half of a surrogate pair. -/
def isHigh (unit : Nat) : Bool := 0xD800 ≤ unit && unit < 0xDC00

/-- Whether a number is the second half of a surrogate pair. -/
def isLow (unit : Nat) : Bool := 0xDC00 ≤ unit && unit < 0xE000

/-- The scalar that a surrogate pair denotes. -/
def joinPair (high low : Nat) : CodePoint :=
  .scalar (Char.ofNat (0x10000 + (high - 0xD800) * 0x400 + (low - 0xDC00)))

/-- The code point behind a one-letter escape. -/
def plainEscape? : CodePoint → Option CodePoint
  | .scalar '"' => some (.scalar '"')
  | .scalar '\\' => some (.scalar '\\')
  | .scalar '/' => some (.scalar '/')
  | .scalar 'b' => some (.scalar '\x08')
  | .scalar 'f' => some (.scalar '\x0c')
  | .scalar 'n' => some (.scalar '\n')
  | .scalar 'r' => some (.scalar '\r')
  | .scalar 't' => some (.scalar '\t')
  | _ => none

/-- A piece of a string: a code point, or a number from an escape. -/
inductive Piece where
  | point (point : CodePoint)
  | unit (number : Nat)

/-- Read the pieces of a string after its opening quote up to and including the closing one.
`opening` is the text from the opening quote on, where an unterminated string is reported. An
escape by number must not be the end of the text. -/
def readPieces (opening : Text) : Text → Except Fault (List Piece × Text)
  | [] => .error (.malformed .unterminatedString opening)
  | point :: rest =>
      if point = .scalar '"' then .ok ([], rest)
      else if point = .scalar '\\' then
        match rest with
        | [] => .error (.malformed .unterminatedString opening)
        | .scalar 'u' :: a :: b :: c :: d :: after =>
            match unit? a b c d, after.isEmpty with
            | some unit, false => do
                let (pieces, rest) ← readPieces opening after
                return (.unit unit :: pieces, rest)
            | _, _ => .error (.malformed .invalidUnicodeEscape rest)
        | .scalar 'u' :: _ => .error (.malformed .invalidUnicodeEscape rest)
        | letter :: after =>
            match plainEscape? letter with
            | none => .error (.malformed .invalidEscape (point :: rest))
            | some escaped => do
                let (pieces, rest) ← readPieces opening after
                return (.point escaped :: pieces, rest)
      else if point.code < 0x20 then .error (.malformed .invalidControl (point :: rest))
      else do
        let (pieces, rest) ← readPieces opening rest
        return (.point point :: pieces, rest)

/-- The text that pieces denote. Two escapes that are the halves of a surrogate pair denote
one scalar; a half that stands alone denotes itself. -/
def joinPieces : List Piece → Text
  | [] => []
  | .point point :: rest => point :: joinPieces rest
  | .unit first :: .unit second :: rest =>
      if isHigh first && isLow second then joinPair first second :: joinPieces rest
      else .ofCode first :: joinPieces (.unit second :: rest)
  | .unit only :: rest => .ofCode only :: joinPieces rest

/-- Read a string after its opening quote; `opening` is the text from that quote on. -/
def readString (opening source : Text) : Except Fault (Text × Text) := do
  let (pieces, rest) ← readPieces opening source
  return (joinPieces pieces, rest)

/-! ## Numbers and constants -/

/-- The digits at the beginning of a text, and the text after them. -/
def spanDigits (source : Text) : Text × Text :=
  (source.takeWhile Decimal.isDigit, source.dropWhile Decimal.isDigit)

/-- The digits before the point: a zero alone, or digits that begin with another. -/
def integerPart? : Text → Option (Text × Text)
  | .scalar '0' :: rest => some ([.scalar '0'], rest)
  | source =>
      match spanDigits source with
      | ([], _) => none
      | (digits, rest) => some (digits, rest)

/-- The digits after a point, when there are any. -/
def fractionPart? : Text → Option (Text × Text)
  | .scalar '.' :: rest =>
      match spanDigits rest with
      | ([], _) => none
      | (digits, rest) => some (digits, rest)
  | _ => none

/-- The sign at the beginning of an exponent. -/
def exponentSign : Text → Bool × Text
  | .scalar '-' :: rest => (true, rest)
  | .scalar '+' :: rest => (false, rest)
  | source => (false, source)

/-- The value of an exponent, when it has digits. -/
def exponentPart? : Text → Option (Int × Text)
  | .scalar letter :: rest =>
      if letter = 'e' ∨ letter = 'E' then
        let (negative, rest) := exponentSign rest
        match spanDigits rest with
        | ([], _) => none
        | (digits, rest) =>
            let magnitude : Int := Decimal.value digits
            some (if negative then -magnitude else magnitude, rest)
      else none
  | _ => none

/-- A minus sign at the beginning of a number. -/
def splitSign : Text → Bool × Text
  | .scalar '-' :: rest => (true, rest)
  | source => (false, source)

/-- Read a number. Without fraction and exponent it is a whole number; a fraction or an
exponent that lacks its digits is left in the text. -/
def readNumber (source : Text) : Except Fault (Value × Text) :=
  let (negative, unsigned) := splitSign source
  match integerPart? unsigned with
  | none => .error (.malformed .expectingValue source)
  | some (whole, rest) =>
      let fraction? := fractionPart? rest
      let afterFraction := fraction?.elim rest Prod.snd
      match fraction?, exponentPart? afterFraction with
      | none, none =>
          if maxIntegerDigits < whole.length then .error (.oversizedInteger whole.length)
          else
            let magnitude : Int := Decimal.value whole
            .ok (.int (if negative then -magnitude else magnitude), rest)
      | fraction?, exponent? =>
          let digits := (fraction?.map Prod.fst).getD []
          let power := (exponent?.map Prod.fst).getD 0
          let number := Decimal.toFloat (Decimal.value (whole ++ digits)) (power - digits.length)
          .ok (.float (if negative then -number else number),
            exponent?.elim afterFraction Prod.snd)

/-- The constants and their values. -/
def constants : List (Text × Value) :=
  [(text "null", .null), (text "true", .bool true), (text "false", .bool false),
    (text "NaN", .float (0.0 / 0.0)), (text "Infinity", .float (1.0 / 0.0)),
    (text "-Infinity", .float (-1.0 / 0.0))]

/-- Read a constant or a number. -/
def readScalar (source : Text) : Except Fault (Value × Text) :=
  let constant? := constants.findSome? fun (name, value) =>
    (name.dropOpening? source).map fun rest => (value, rest)
  match constant? with
  | some reading => .ok reading
  | none => readNumber source

/-! ## Arrays and objects -/

mutual

/-- Read one value. `fuel` bounds the nesting and the number of members. -/
def readValue : (fuel : Nat) → Text → Except Fault (Value × Text)
  | 0, source => .error (.malformed .expectingValue source)
  | fuel + 1, source =>
      match source with
      | .scalar '"' :: rest => do
          let (content, rest) ← readString source rest
          return (.string content, rest)
      | .scalar '[' :: rest =>
          match skipBlanks rest with
          | .scalar ']' :: rest => .ok (.array [], rest)
          | rest => do
              let (items, rest) ← readItems fuel rest
              return (.array items, rest)
      | .scalar '\x7b' :: rest =>
          match skipBlanks rest with
          | .scalar '\x7d' :: rest => .ok (.object [], rest)
          | rest => do
              let (fields, rest) ← readFields fuel rest
              return (.object (Pairs.ofAssignments fields), rest)
      | _ => readScalar source

/-- Read the items of an array up to and including its closing bracket. -/
def readItems : (fuel : Nat) → Text → Except Fault (List Value × Text)
  | 0, source => .error (.malformed .expectingValue source)
  | fuel + 1, source => do
      let (item, rest) ← readValue fuel source
      match skipBlanks rest with
      | .scalar ']' :: rest => return ([item], rest)
      | .scalar ',' :: rest => do
          let (items, rest) ← readItems fuel (skipBlanks rest)
          return (item :: items, rest)
      | rest => .error (.malformed .expectingComma rest)

/-- Read the fields of an object up to and including its closing brace. -/
def readFields : (fuel : Nat) → Text → Except Fault (List (Text × Value) × Text)
  | 0, source => .error (.malformed .expectingKey source)
  | fuel + 1, source =>
      match source with
      | .scalar '"' :: rest => do
          let (key, rest) ← readString source rest
          match skipBlanks rest with
          | .scalar ':' :: rest => do
              let (value, rest) ← readValue fuel (skipBlanks rest)
              match skipBlanks rest with
              | .scalar '\x7d' :: rest => return ([(key, value)], rest)
              | .scalar ',' :: rest => do
                  let (fields, rest) ← readFields fuel (skipBlanks rest)
                  return ((key, value) :: fields, rest)
              | rest => .error (.malformed .expectingComma rest)
          | rest => .error (.malformed .expectingColon rest)
      | _ => .error (.malformed .expectingKey source)

end

/-- Read a whole document. Two units of fuel for every code point are enough, since every
nested value and every further member is behind at least one code point. -/
def read (document : Text) : Except Fault Value :=
  match document with
  | .scalar '\ufeff' :: _ => .error (.malformed .byteOrderMark document)
  | _ => do
      let (value, rest) ← readValue (2 * document.length + 2) (skipBlanks document)
      match skipBlanks rest with
      | [] => return value
      | rest => .error (.malformed .extraData rest)

end Switchboard.Json
