import Switchboard.Text

/-!
# Dotted references

A call names its target as `module.function`. Only the first two segments count, so the
module part of a reference never contains a dot.
-/

namespace Switchboard.Reference

/-- The separator of segments. -/
def dot : CodePoint := .scalar '.'

/-- The text before the first dot. -/
def segment (source : Text) : Text := source.takeWhile (· ≠ dot)

/-- The text after the first dot, when there is a dot. -/
def afterDot? (source : Text) : Option Text :=
  match source.dropWhile (· ≠ dot) with
  | [] => none
  | _ :: rest => some rest

/-- The first segment of a reference, and the second when there is a dot. -/
def split (reference : Text) : Text × Option Text :=
  (segment reference, (afterDot? reference).map segment)

end Switchboard.Reference
