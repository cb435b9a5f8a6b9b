/-!
# Program text

`Text` is the only string type of the library. It is a list of code points rather
than a `String` because program files may name lone surrogates through JSON escapes,
and such names must survive reading, comparing and quoting unchanged.
-/

namespace Switchboard

/-- One code point: a Unicode scalar value, or a surrogate that stands alone. The
surrogate with offset `k` is the code point `0xD800 + k`. -/
inductive CodePoint where
  | scalar (value : Char)
  | surrogate (offset : Fin 2048)
  deriving DecidableEq, Inhabited

namespace CodePoint

/-- The number that Unicode assigns to the code point. -/
def code : CodePoint → Nat
  | .scalar value => value.toNat
  | .surrogate offset => 0xD800 + offset.val

/-- The code point with a given number; a number beyond Unicode gives U+0000. -/
def ofCode (number : Nat) : CodePoint :=
  if inside : 0xD800 ≤ number ∧ number < 0xE000 then
    .surrogate ⟨number - 0xD800, by omega⟩
  else
    .scalar (Char.ofNat number)

/-- Whether the code point is a surrogate that stands alone. -/
def isSurrogate : CodePoint → Bool
  | .scalar _ => false
  | .surrogate _ => true

end CodePoint

/-- A sequence of code points. -/
abbrev Text := List CodePoint

/-- The text of a string literal. -/
def text (literal : String) : Text := literal.toList.map .scalar

namespace Text

/-- The text of a list of characters. -/
def ofChars (characters : List Char) : Text := characters.map .scalar

/-- A string for display. A lone surrogate has no place in a `String` and shows as the
replacement character. -/
def display (source : Text) : String :=
  String.ofList <| source.map fun
    | .scalar value => value
    | .surrogate _ => Char.ofNat 0xFFFD

/-- Code point order: the first difference decides, and a proper beginning comes first. -/
def le : Text → Text → Bool
  | [], _ => true
  | _ :: _, [] => false
  | a :: as, b :: bs => a.code < b.code || (a.code == b.code && le as bs)

/-- Texts in code point order. -/
def sort (texts : List Text) : List Text := texts.mergeSort le

/-- Texts one after another, `separator` between neighbours. -/
def join (separator : Text) : List Text → Text
  | [] => []
  | [only] => only
  | first :: rest => first ++ separator ++ join separator rest

/-- Whether `source` begins with `opening`. -/
def startsWith (opening source : Text) : Bool := opening.isPrefixOf source

@[simp] theorem startsWith_append (opening rest : Text) :
    startsWith opening (opening ++ rest) = true := by
  simp [startsWith]

/-- The text after `opening`, when `source` begins with it. -/
def dropOpening? : (opening : Text) → (source : Text) → Option Text
  | [], source => some source
  | _ :: _, [] => none
  | a :: opening, b :: source => if a = b then dropOpening? opening source else none

theorem dropOpening?_eq_some_iff {opening source rest : Text} :
    dropOpening? opening source = some rest ↔ source = opening ++ rest := by
  induction opening generalizing source with
  | nil => simp [dropOpening?]
  | cons first opening inductionHypothesis =>
    cases source with
    | nil => simp [dropOpening?]
    | cons point source =>
      by_cases same : first = point
      · simp [dropOpening?, same, inductionHypothesis]
      · have other : ¬ point = first := fun equal => same equal.symm
        simp [dropOpening?, same, other]

/-- Whether the text has a lone surrogate in it. -/
def hasSurrogate (source : Text) : Bool := source.any CodePoint.isSurrogate

end Text

/-- The line feed. -/
def newline : CodePoint := .scalar '\n'

end Switchboard
