import Switchboard.Decimal.Binary64
import Switchboard.Text.Quoted
import Switchboard.Value

/-!
# Values in messages

`describe` is how a diagnostic shows a value: strings quoted, the constants as `None`,
`True` and `False`, arrays and objects on one line. `display` differs only in showing a
string without quotes.
-/

namespace Switchboard.Value

/-- Infinities and not-a-number inside messages. -/
def messageExtremes : Decimal.Extremes := ⟨text "inf", text "nan"⟩

mutual

/-- A value as a diagnostic shows it. -/
def describe : Value → Text
  | .null => text "None"
  | .bool true => text "True"
  | .bool false => text "False"
  | .int number => Decimal.ofInt number
  | .float number => Decimal.ofFloat messageExtremes number
  | .string content => content.quoted
  | .array items => text "[" ++ Text.join (text ", ") (describeItems items) ++ text "]"
  | .object fields =>
      text "\x7b" ++ Text.join (text ", ") (describeFields fields) ++ text "\x7d"

/-- The items of an array, each described. -/
def describeItems : List Value → List Text
  | [] => []
  | item :: rest => describe item :: describeItems rest

/-- The fields of an object, each as quoted key, colon and described value. -/
def describeFields : List (Text × Value) → List Text
  | [] => []
  | (key, value) :: rest => (key.quoted ++ text ": " ++ describe value) :: describeFields rest

end

/-- A value as text of its own: a string as it is, anything else described. -/
def display : Value → Text
  | .string content => content
  | value => value.describe

end Switchboard.Value
