import Switchboard.Text

/-!
# Control sequences

A control sequence tells a terminal to move the cursor or to change colours: an escape and an
opening bracket, parameters, intermediates, and one final code point. Messages that are not
written to a terminal leave them out. The three classes are disjoint, so the sequence at a
place is the only one there.
-/

namespace Switchboard.Text.ControlSequence

/-- The code point that opens a sequence. -/
def escape : CodePoint := .scalar '\x1b'

/-- The code point behind the escape. -/
def bracket : CodePoint := .scalar '['

/-- Whether a code point lies between two characters. -/
def within (low high : Char) (point : CodePoint) : Bool :=
  low.toNat ≤ point.code && point.code ≤ high.toNat

/-- Whether a code point is a parameter. -/
def isParameter : CodePoint → Bool := within '0' '?'

/-- Whether a code point is an intermediate. -/
def isIntermediate : CodePoint → Bool := within ' ' '/'

/-- Whether a code point ends a sequence. -/
def isFinal : CodePoint → Bool := within '@' '~'

/-- The length of what follows the bracket, up to and with the final code point. -/
def bodyLength? (body : Text) : Option Nat :=
  let parameters := (body.takeWhile isParameter).length
  let intermediates := ((body.drop parameters).takeWhile isIntermediate).length
  match body.drop (parameters + intermediates) with
  | [] => none
  | final :: _ => if isFinal final then some (parameters + intermediates + 1) else none

/-- The length of the sequence at the beginning of a text, if there is one. -/
def length? : Text → Option Nat
  | first :: second :: body =>
      if first = escape ∧ second = bracket then (bodyLength? body).map (· + 2) else none
  | _ => none

/-- Leave out the next `skipped` code points, and from there on every sequence. -/
def removeFrom : (skipped : Nat) → Text → Text
  | _, [] => []
  | skipped + 1, _ :: rest => removeFrom skipped rest
  | 0, point :: rest =>
      match length? (point :: rest) with
      | none => point :: removeFrom 0 rest
      | some length => removeFrom (length - 1) rest

/-- The text without its control sequences. What is left may read as a sequence again, and
stays. -/
def remove (source : Text) : Text := removeFrom 0 source

end Switchboard.Text.ControlSequence
