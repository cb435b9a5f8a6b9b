import Switchboard.Text.Hex
import Switchboard.Text.Printable

/-!
# Quoted text

Messages show names in quotes, with every code point that could not be read off a terminal
written as an escape. Single quotes enclose the text unless it holds a single quote and no
double quote.
-/

namespace Switchboard.Text

/-- The quote character that encloses a text. -/
def quoteMark (source : Text) : CodePoint :=
  if .scalar '\'' ∈ source ∧ .scalar '"' ∉ source then .scalar '"' else .scalar '\''

/-- A code point inside quotes: the quote character and the backslash behind a backslash,
unprintable code points by number. -/
def quotePoint (mark point : CodePoint) : Text :=
  if point = mark ∨ point = .scalar '\\' then [.scalar '\\', point]
  else if point = .scalar '\n' then text "\\n"
  else if point = .scalar '\r' then text "\\r"
  else if point = .scalar '\t' then text "\\t"
  else if Printable.isPrintable point.code then [point]
  else if point.code < 0x100 then text "\\x" ++ Hex.digits 2 point.code
  else if point.code < 0x10000 then text "\\u" ++ Hex.digits 4 point.code
  else text "\\U" ++ Hex.digits 8 point.code

/-- The text in quotes. -/
def quoted (source : Text) : Text :=
  let mark := quoteMark source
  mark :: source.flatMap (quotePoint mark) ++ [mark]

end Switchboard.Text
