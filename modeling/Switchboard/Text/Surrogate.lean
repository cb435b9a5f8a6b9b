import Switchboard.Decimal
import Switchboard.Text.Hex

/-!
# Lone surrogates on streams

A lone surrogate has no form in UTF-8, so whoever takes a text has to say what becomes of it.
Standard error writes it as an escape. Standard output refuses the text, and a path is refused for
some of them; the refusal names the run of surrogates that begins with the first one refused.
-/

namespace Switchboard.Text

/-- A lone surrogate as an escape. -/
def escapeSurrogate (point : CodePoint) : Text :=
  if point.isSurrogate then text "\\u" ++ Hex.digits 4 point.code else [point]

/-- The text with every lone surrogate as an escape. -/
def escapeSurrogates (source : Text) : Text := source.flatMap escapeSurrogate

/-- Neighbouring surrogates in a text: the place and value of the first, and their number. -/
structure SurrogateRun where
  offset : Nat
  first : CodePoint
  length : Nat
  deriving DecidableEq

/-- The first point that is refused, with the surrogates behind it. -/
def firstRun? (refused : CodePoint → Bool) (source : Text) : Option SurrogateRun :=
  let taken := source.takeWhile fun point => !refused point
  match source.dropWhile fun point => !refused point with
  | [] => none
  | first :: rest =>
      some ⟨taken.length, first, (rest.takeWhile CodePoint.isSurrogate).length + 1⟩

/-- The first run of surrogates in a text. -/
def surrogateRun? (source : Text) : Option SurrogateRun := firstRun? CodePoint.isSurrogate source

/-- No run is found exactly when nothing is refused. -/
theorem firstRun?_eq_none_iff {refused : CodePoint → Bool} {source : Text} :
    firstRun? refused source = none ↔ ∀ point ∈ source, refused point = false := by
  have passed : source.dropWhile (fun point => !refused point) = [] ↔
      ∀ point ∈ source, refused point = false := by
    induction source with
    | nil => simp
    | cons first rest inductionHypothesis =>
      cases stops : refused first <;> simp [stops, inductionHypothesis]
  rw [← passed]
  unfold firstRun?
  dsimp only
  split
  · next ended => exact iff_of_true rfl ended
  · next left => simp [left]

/-- Why the text around a run cannot be written. -/
def SurrogateRun.message (run : SurrogateRun) : Text :=
  let place :=
    if run.length = 1 then
      text "character '" ++ escapeSurrogate run.first ++ text "' in position " ++
        Decimal.ofNat run.offset
    else
      text "characters in position " ++ Decimal.ofNat run.offset ++ text "-" ++
        Decimal.ofNat (run.offset + run.length - 1)
  text "'utf-8' codec can't encode " ++ place ++ text ": surrogates not allowed"

end Switchboard.Text
