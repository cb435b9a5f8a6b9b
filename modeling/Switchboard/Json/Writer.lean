import Switchboard.Decimal.Binary64
import Switchboard.Text.Hex
import Switchboard.Value

/-!
# Writing JSON

`write` lays a value out over several lines, two blanks to a level, in ASCII alone: any other
code point is an escape, as a surrogate pair beyond U+FFFF. Empty arrays and objects stay on
one line. The reader in `Switchboard.Json.Reader` reads the value back.
-/

namespace Switchboard.Json

/-- Infinities and not-a-number in a document. -/
def documentExtremes : Decimal.Extremes := ⟨text "Infinity", text "NaN"⟩

/-- An escape for a 16-bit number. -/
def unicodeEscape (unit : Nat) : Text := text "\\u" ++ Text.Hex.digits 4 unit

/-- A code point inside a string. -/
def escapePoint (point : CodePoint) : Text :=
  if point = .scalar '"' then text "\\\""
  else if point = .scalar '\\' then text "\\\\"
  else if point = .scalar '\n' then text "\\n"
  else if point = .scalar '\r' then text "\\r"
  else if point = .scalar '\t' then text "\\t"
  else if point = .scalar '\x08' then text "\\b"
  else if point = .scalar '\x0c' then text "\\f"
  else if 0x20 ≤ point.code ∧ point.code < 0x7F then [point]
  else if point.code < 0x10000 then unicodeEscape point.code
  else
    let offset := point.code - 0x10000
    unicodeEscape (0xD800 + offset / 0x400) ++ unicodeEscape (0xDC00 + offset % 0x400)

/-- A string in double quotes. -/
def writeString (content : Text) : Text :=
  text "\"" ++ content.flatMap escapePoint ++ text "\""

/-- A line break and the indentation of a level. -/
def lineBreak (level : Nat) : Text := newline :: List.replicate (2 * level) (.scalar ' ')

mutual

/-- Write a value whose members stand one level below `level`. -/
def writeValue (level : Nat) : Value → Text
  | .null => text "null"
  | .bool true => text "true"
  | .bool false => text "false"
  | .int number => Decimal.ofInt number
  | .float number => Decimal.ofFloat documentExtremes number
  | .string content => writeString content
  | .array [] => text "[]"
  | .array (item :: rest) =>
      text "[" ++ lineBreak (level + 1) ++ writeValue (level + 1) item ++
        writeItems (level + 1) rest ++ lineBreak level ++ text "]"
  | .object [] => text "\x7b\x7d"
  | .object ((key, value) :: rest) =>
      text "\x7b" ++ lineBreak (level + 1) ++ writeString key ++ text ": " ++
        writeValue (level + 1) value ++ writeFields (level + 1) rest ++ lineBreak level ++
        text "\x7d"

/-- Write the items after the first, each behind a comma on a line of its own. -/
def writeItems (level : Nat) : List Value → Text
  | [] => []
  | item :: rest =>
      text "," ++ lineBreak level ++ writeValue level item ++ writeItems level rest

/-- Write the fields after the first, each behind a comma on a line of its own. -/
def writeFields (level : Nat) : List (Text × Value) → Text
  | [] => []
  | (key, value) :: rest =>
      text "," ++ lineBreak level ++ writeString key ++ text ": " ++ writeValue level value ++
        writeFields level rest

end

/-- A whole document. -/
def write (value : Value) : Text := writeValue 0 value

end Switchboard.Json
