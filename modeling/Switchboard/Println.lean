import Switchboard.Text

/-!
# Println shapes

Attaching source to a module echoes the argument of the first `println(...)` found in it.
The search is textual: a shape opens with `println(`, closes at the nearest parenthesis and
stays on one line; an opening without a closing parenthesis on its line is passed over.
-/

namespace Switchboard.Println

/-- How a shape opens. -/
def opening : Text := text "println("

/-- The text up to the nearest closing parenthesis, when no line ends before it. -/
def content? : Text → Option Text
  | [] => none
  | point :: rest =>
      if point = .scalar ')' then some []
      else if point = newline then none
      else (content? rest).map (point :: ·)

/-- The content of the first shape. -/
def firstShape? : Text → Option Text
  | [] => none
  | point :: rest =>
      match (opening.dropOpening? (point :: rest)).bind content? with
      | some content => some content
      | none => firstShape? rest

/-- Whether a code point is a single or a double quote. -/
def isQuote (point : CodePoint) : Bool := point = .scalar '\'' || point = .scalar '"'

/-- The content of the first shape without its quotes. An empty first shape has no argument,
whatever follows it. -/
def argument? (source : Text) : Option Text :=
  match firstShape? source with
  | none => none
  | some [] => none
  | some content => some (content.filter fun point => !isQuote point)

end Switchboard.Println
