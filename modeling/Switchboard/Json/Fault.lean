import Switchboard.Decimal

/-!
# Faults in JSON text

What can be wrong with a JSON document and where. A reader reports the text from the fault
on; `Position.locate` turns that into the line, column and offset of a message.
-/

namespace Switchboard.Json

/-- What is wrong with a document. -/
inductive Complaint where
  | expectingValue
  | expectingKey
  | expectingColon
  | expectingComma
  | invalidControl
  | invalidEscape
  | invalidUnicodeEscape
  | unterminatedString
  | extraData
  | byteOrderMark
  deriving DecidableEq

/-- A complaint in words. -/
def Complaint.message : Complaint → Text
  | .expectingValue => text "Expecting value"
  | .expectingKey => text "Expecting property name enclosed in double quotes"
  | .expectingColon => text "Expecting ':' delimiter"
  | .expectingComma => text "Expecting ',' delimiter"
  | .invalidControl => text "Invalid control character at"
  | .invalidEscape => text "Invalid \\escape"
  | .invalidUnicodeEscape => text "Invalid \\uXXXX escape"
  | .unterminatedString => text "Unterminated string starting at"
  | .extraData => text "Extra data"
  | .byteOrderMark => text "Unexpected UTF-8 BOM (decode using utf-8-sig)"

/-- Whole numbers with more digits than this are refused. -/
def maxIntegerDigits : Nat := 4300

/-- A fault met while reading: a complaint about the text that begins with `rest`, or a
whole number with more digits than the reader converts. -/
inductive Fault where
  | malformed (complaint : Complaint) (rest : Text)
  | oversizedInteger (digits : Nat)
  deriving DecidableEq

/-- A place in a document. Lines and columns count from one, the offset from zero. -/
structure Position where
  line : Nat
  column : Nat
  offset : Nat
  deriving DecidableEq

/-- The place in `document` where its ending `rest` begins. -/
def Position.locate (document rest : Text) : Position :=
  let offset := document.length - rest.length
  let before := document.take offset
  { line := before.count newline + 1
    column := (before.reverse.takeWhile (· ≠ newline)).length + 1
    offset := offset }

/-- The place as messages give it. -/
def Position.message (position : Position) : Text :=
  text "line " ++ Decimal.ofNat position.line ++ text " column " ++
    Decimal.ofNat position.column ++ text " (char " ++ Decimal.ofNat position.offset ++ text ")"

end Switchboard.Json
