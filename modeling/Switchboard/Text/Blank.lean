import Switchboard.Text

/-!
# Blank code points

Attached source loses its blanks at both ends. Blank are the code points with Unicode's
property `White_Space` and the four information separators U+001C to U+001F.
-/

namespace Switchboard.Text

/-- Whether trimming removes the code point with this number. -/
def isBlankCode (code : Nat) : Bool :=
  (0x09 ≤ code && code ≤ 0x0D) || (0x1C ≤ code && code ≤ 0x20) || code == 0x85 ||
    code == 0xA0 || code == 0x1680 || (0x2000 ≤ code && code ≤ 0x200A) || code == 0x2028 ||
    code == 0x2029 || code == 0x202F || code == 0x205F || code == 0x3000

/-- Whether trimming removes the code point. -/
def isBlank (point : CodePoint) : Bool := isBlankCode point.code

/-- The text without the blanks at its beginning. -/
def trimStart (source : Text) : Text := source.dropWhile isBlank

/-- The text without the blanks at either end. -/
def trim (source : Text) : Text := (trimStart (trimStart source).reverse).reverse

end Switchboard.Text
