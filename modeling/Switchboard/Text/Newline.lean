import Switchboard.Text

/-!
# Line ends

Every line end of a program file reads as one line feed, so that positions in messages do
not depend on the system the file was written on.
-/

namespace Switchboard.Text

/-- Carriage returns, alone or before a line feed, become line feeds. -/
def foldNewlines : Text → Text
  | .scalar '\r' :: .scalar '\n' :: rest => newline :: foldNewlines rest
  | .scalar '\r' :: rest => newline :: foldNewlines rest
  | point :: rest => point :: foldNewlines rest
  | [] => []

end Switchboard.Text
