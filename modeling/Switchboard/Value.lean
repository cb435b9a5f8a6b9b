import Switchboard.Table

/-!
# JSON values

The data a program is made of. Objects keep the order of their fields, and whole numbers
are kept apart from numbers with a fraction or an exponent, because the engine tells the
two apart in exit codes.
-/

namespace Switchboard

/-- A JSON value. -/
inductive Value where
  | null
  | bool (flag : Bool)
  | int (number : Int)
  | float (number : Float)
  | string (content : Text)
  | array (items : List Value)
  | object (fields : List (Text × Value))
  deriving Inhabited

namespace Value

/-- The name that messages use for the kind of a value. -/
def kindName : Value → Text
  | .null => text "NoneType"
  | .bool _ => text "bool"
  | .int _ => text "int"
  | .float _ => text "float"
  | .string _ => text "str"
  | .array _ => text "list"
  | .object _ => text "dict"

/-- Whether the value is anything but null. -/
def isPresent : Value → Bool
  | .null => false
  | _ => true

/-- The field of an object under `key`; an absent field counts as null. -/
def fieldOrNull (fields : Pairs Value) (key : Text) : Value := (fields.get? key).getD .null

end Value

end Switchboard
